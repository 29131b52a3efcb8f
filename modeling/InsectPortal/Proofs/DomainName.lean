import InsectPortal.Proofs.Ascii
import InsectPortal.Proofs.NumericHost

/-!
# Reading domain names back

A domain name is written in ASCII, with none of the characters that delimit the parts of an address.
A name that is ASCII from the start is written in small letters and then read as the same name.
-/
namespace InsectPortal

open Unicode (isAscii)

namespace Url

def isWrittenChar (c : Char) : Bool := isAscii c && isDomainChar c

theorem isWrittenChar_iff {c : Char} :
    isWrittenChar c = true ↔ isAscii c = true ∧ isDomainChar c = true := Bool.and_eq_true_iff

namespace Punycode

theorem isWrittenChar_digitChar {d : Nat} (h : d < 36) : isWrittenChar (digitChar d) = true := by
  have all : ∀ d < 36, isWrittenChar (digitChar d) = true := by decide
  exact all d h

theorem isAscii_of_digit? {c : Char} {d : Nat} (h : digit? c = some d) : isAscii c = true := by
  unfold digit? at h
  dsimp only at h
  apply decide_eq_true
  split at h
  · omega
  · split at h
    · omega
    · cases h

theorem digits_written (bias column distance : Nat) :
    ∀ c ∈ digits bias column distance, isWrittenChar c = true := by
  fun_induction digits bias column distance with
  | case1 column distance t ht =>
    have hle := threshold_le bias column
    intro c hc
    rw [List.mem_singleton.mp hc]
    exact isWrittenChar_digitChar (by omega)
  | case2 column distance t ht ih =>
    have hle := threshold_le bias column
    have hmod := Nat.mod_lt (distance - t) (y := 36 - t) (by omega)
    intro c hc
    rcases List.mem_cons.mp hc with rfl | hc
    · exact isWrittenChar_digitChar (by omega)
    · exact ih c hc

theorem Encoder.pass_written {e : Encoder} (h : ∀ c ∈ e.text, isWrittenChar c = true) (code : Nat)
    (c : Char) : ∀ d ∈ (e.pass code c).text, isWrittenChar d = true := by
  unfold Encoder.pass
  split
  · exact h
  · split
    · intro d hd
      rcases List.mem_append.mp hd with hd | hd
      · exact h d hd
      · exact digits_written _ _ _ d hd
    · exact h

theorem Encoder.foldl_pass_written {e : Encoder} (h : ∀ c ∈ e.text, isWrittenChar c = true)
    (code : Nat) (label : List Char) :
    ∀ d ∈ (label.foldl (Encoder.pass code) e).text, isWrittenChar d = true := by
  induction label generalizing e with
  | nil => exact h
  | cons c label ih => exact ih (Encoder.pass_written h code c)

theorem Encoder.write_written (label : List Char) {e : Encoder}
    (h : ∀ c ∈ e.text, isWrittenChar c = true) (start : Nat) (codes : List Nat) :
    ∀ d ∈ (Encoder.write label start e codes).text, isWrittenChar d = true := by
  induction codes generalizing e start with
  | nil => exact h
  | cons code codes ih =>
    rw [Encoder.write]
    apply ih
    apply Encoder.foldl_pass_written
    exact h

theorem encode_written {label : List Char} (h : ∀ c ∈ label, isDomainChar c = true) :
    ∀ c ∈ encode label, isWrittenChar c = true := by
  intro c hc
  unfold encode at hc
  dsimp only at hc
  rw [List.mem_append, List.mem_append] at hc
  rcases hc with (hc | hc) | hc
  · obtain ⟨hmem, hascii⟩ := List.mem_filter.mp hc
    exact isWrittenChar_iff.mpr ⟨hascii, h c hmem⟩
  · split at hc
    · cases hc
    · rw [List.mem_singleton.mp hc]
      decide
  · exact Encoder.write_written label (fun c hc => absurd hc List.not_mem_nil) _ _ c hc

theorem isAscii_of_read {rest : List Char} {d d' : Decoder}
    (h : rest.foldlM Decoder.read? d = some d') : ∀ c ∈ rest, isAscii c = true := by
  induction rest generalizing d with
  | nil => exact fun c hc => absurd hc List.not_mem_nil
  | cons c rest ih =>
    rw [List.foldlM_cons] at h
    obtain ⟨d₁, hd₁, hrest⟩ := Option.bind_eq_some_iff.mp h
    obtain ⟨n, hn, _⟩ := Option.bind_eq_some_iff.mp hd₁
    exact List.forall_mem_cons.mpr ⟨isAscii_of_digit? hn, ih hrest⟩

theorem mem_splitAscii {s : List Char} {c : Char} (h : c ∈ s) :
    c ∈ (splitAscii s).1 ∨ c = '-' ∨ c ∈ (splitAscii s).2 := by
  let after := (s.reverse.takeWhile (· ≠ '-')).reverse
  let front := (s.reverse.dropWhile (· ≠ '-')).reverse
  have hsplit : s = front ++ after := by
    rw [← List.reverse_append, List.takeWhile_append_dropWhile, List.reverse_reverse]
  have htake : s.take (s.length - after.length) = front := by
    have hlength : s.length - after.length = front.length := by
      rw [hsplit, List.length_append]
      omega
    rw [hlength]
    exact (congrArg (List.take _) hsplit).trans List.take_left
  have hresult : splitAscii s =
      if front.dropLast.isEmpty then ([], s) else (front.dropLast, after) := by
    rw [splitAscii, ← htake]
  have hfront : c ∈ front → c ∈ front.dropLast ∨ c = '-' := by
    intro hc
    cases hdrop : s.reverse.dropWhile (· ≠ '-') with
    | nil =>
      have hnil : front = [] := congrArg List.reverse hdrop
      rw [hnil] at hc
      cases hc
    | cons d rest =>
      have hd : d = '-' := by
        have hhead := List.head?_dropWhile_not (· ≠ '-') s.reverse
        rw [hdrop] at hhead
        simpa using hhead
      have hrest : front = rest.reverse ++ [d] :=
        (congrArg List.reverse hdrop).trans List.reverse_cons
      rw [hrest, List.mem_append, List.mem_singleton, hd] at hc
      rw [hrest, List.dropLast_concat]
      exact hc
  rw [hresult]
  split
  · exact .inr (.inr h)
  · rw [hsplit, List.mem_append] at h
    rcases h with hc | hc
    · exact (hfront hc).imp_right .inl
    · exact .inr (.inr hc)

/-- Only a text of ASCII stands for a label. -/
theorem isAscii_of_decode? {s label : List Char} (h : decode? s = some label) :
    ∀ c ∈ s, isAscii c = true := by
  obtain ⟨d, hd, hlabel⟩ := Option.bind_eq_some_iff.mp h
  intro c hc
  rcases mem_splitAscii hc with hc | rfl | hc
  · split at hlabel
    · next hall => exact List.all_eq_true.mp hall.1 c hc
    · cases hlabel
  · rfl
  · exact isAscii_of_read hd c hc

end Punycode

namespace Label

theorem ofPunycode?_eq_some {s : List Char} {l : Label} (h : ofPunycode? s = some l) :
    (∀ c ∈ s, isAscii c = true) ∧ l.written = asciiMark ++ s := by
  unfold ofPunycode? at h
  dsimp only at h
  split at h
  · obtain ⟨label, hlabel, hl⟩ := Option.bind_eq_some_iff.mp h
    split at hl
    · cases hl
    · cases hl
      exact ⟨Punycode.isAscii_of_decode? hlabel, rfl⟩
  · cases h

theorem asciiMark_append_drop {s : List Char} (h : asciiMark.isPrefixOf s = true) :
    asciiMark ++ s.drop asciiMark.length = s := by
  obtain ⟨t, rfl⟩ := List.isPrefixOf_iff_prefix.mp h
  rw [List.drop_left]

theorem isWrittenChar_of_ofChars? {s : List Char} {l : Label} (h : ofChars? s = some l)
    (hs : ∀ c ∈ s, isDomainChar c = true) : ∀ c ∈ l.written, isWrittenChar c = true := by
  unfold ofChars? at h
  split at h
  · next hmark =>
    obtain ⟨hascii, hwritten⟩ := ofPunycode?_eq_some h
    rw [hwritten]
    intro c hc
    rcases List.mem_append.mp hc with hc | hc
    · exact List.all_eq_true.mp (by decide : asciiMark.all isWrittenChar = true) c hc
    · exact isWrittenChar_iff.mpr ⟨hascii c hc, hs c (List.mem_of_mem_drop hc)⟩
  · split at h
    · next hascii =>
      cases h
      exact fun c hc => isWrittenChar_iff.mpr ⟨List.all_eq_true.mp hascii c hc, hs c hc⟩
    · split at h
      · cases h
        intro c hc
        rcases List.mem_append.mp hc with hc | hc
        · exact List.all_eq_true.mp (by decide : asciiMark.all isWrittenChar = true) c hc
        · exact Punycode.encode_written hs c hc
      · cases h

theorem written_of_isAscii {s : List Char} {l : Label} (h : ofChars? s = some l)
    (hs : ∀ c ∈ s, isAscii c = true) : l.written = s := by
  unfold ofChars? at h
  split at h
  · next hmark => rw [(ofPunycode?_eq_some h).2, asciiMark_append_drop hmark]
  · rw [if_pos (List.all_eq_true.mpr hs)] at h
    cases h
    rfl

end Label

theorem written_of_mapM {texts : List (List Char)} {labels : List Label}
    (h : texts.mapM Label.ofChars? = some labels) (hs : ∀ s ∈ texts, ∀ c ∈ s, isAscii c = true) :
    labels.map Label.written = texts := by
  induction texts generalizing labels with
  | nil =>
    cases h
    rfl
  | cons s texts ih =>
    obtain ⟨hs, htexts⟩ := List.forall_mem_cons.mp hs
    rw [List.mapM_cons] at h
    obtain ⟨l, hl, hrest⟩ := Option.bind_eq_some_iff.mp h
    obtain ⟨ls, hls, hlabels⟩ := Option.bind_eq_some_iff.mp hrest
    cases hlabels
    rw [List.map_cons, Label.written_of_isAscii hl hs, ih hls htexts]

theorem exists_of_mem_mapM {texts : List (List Char)} {labels : List Label}
    (h : texts.mapM Label.ofChars? = some labels) {l : Label} (hl : l ∈ labels) :
    ∃ s ∈ texts, Label.ofChars? s = some l := by
  induction texts generalizing labels with
  | nil =>
    cases h
    cases hl
  | cons s texts ih =>
    rw [List.mapM_cons] at h
    obtain ⟨l', hl', hrest⟩ := Option.bind_eq_some_iff.mp h
    obtain ⟨ls, hls, hlabels⟩ := Option.bind_eq_some_iff.mp hrest
    cases hlabels
    rcases List.mem_cons.mp hl with rfl | hl
    · exact ⟨s, List.mem_cons_self, hl'⟩
    · obtain ⟨t, ht, hread⟩ := ih hls hl
      exact ⟨t, List.mem_cons_of_mem s ht, hread⟩

def standing (labels : List Label) : Bool :=
  labels.all Label.isSound &&
    (!(labels.any (·.shown.any Unicode.turns)) || labels.all (Unicode.keepsDirection ·.shown))

theorem labels?_eq_some {s : List Char} {labels : List Label} :
    labels? s = some labels ↔ ∃ images, s.mapM nameImage? = some images ∧
      (Unicode.composed images.flatten).all isDomainChar = true ∧
      ((Unicode.composed images.flatten).splitOn '.').mapM Label.ofChars? = some labels ∧
      standing labels = true := by
  unfold labels?
  rw [Option.bind_eq_bind, Option.bind_eq_some_iff]
  refine exists_congr fun images => and_congr_right fun _ => ?_
  dsimp only
  split
  · next hchars =>
    rw [Option.bind_eq_bind, Option.bind_eq_some_iff]
    constructor
    · rintro ⟨labels', hread, h⟩
      split at h
      · next hstanding =>
        cases h
        exact ⟨hchars, hread, hstanding⟩
      · cases h
    · rintro ⟨_, hread, hstanding⟩
      exact ⟨labels, hread, if_pos hstanding⟩
  · next hchars =>
    constructor
    · intro h
      cases h
    · rintro ⟨h, _⟩
      exact absurd h hchars

theorem nameImage?_of_isAscii {c : Char} (hc : isAscii c = true) :
    nameImage? c = some [c.toLower] := if_pos hc

/-- A name of ASCII stands for itself in small letters. -/
theorem labels?_of_isAscii {s : List Char} (hs : ∀ c ∈ s, isAscii c = true) {labels : List Label} :
    labels? s = some labels ↔ (s.map Char.toLower).all isDomainChar = true ∧
      ((s.map Char.toLower).splitOn '.').mapM Label.ofChars? = some labels ∧
      standing labels = true := by
  have himages : s.mapM nameImage? = some (s.map fun c => [c.toLower]) :=
    Json.mapM_eq_map fun c hc => nameImage?_of_isAscii (hs c hc)
  have hflatten : (s.map fun c => [c.toLower]).flatten = s.map Char.toLower := by
    rw [← List.flatMap_def, List.map_eq_flatMap]
  have hlower : (s.map Char.toLower).all isAscii = true := by
    rw [List.all_map, List.all_eq_true]
    exact fun c hc => isAscii_toLower (hs c hc)
  have hcomposed : Unicode.composed (s.map Char.toLower) = s.map Char.toLower := if_pos hlower
  rw [labels?_eq_some, himages]
  simp only [Option.some_inj, exists_eq_left', hflatten, hcomposed]

theorem domainName?_eq_some {s : List Char} {name : String} :
    domainName? s = some name ↔ ∃ t labels, decode? s = some t ∧ labels? t.toList = some labels ∧
      name.toList = ['.'].intercalate (labels.map Label.written) := by
  have htext : ∀ labels : List Label,
      (".".intercalate (labels.map fun l => String.ofList l.written)).toList =
        ['.'].intercalate (labels.map Label.written) := by
    intro labels
    have hlabel : String.toList ∘ (fun l : Label => String.ofList l.written) = Label.written := by
      funext l
      exact String.toList_ofList
    rw [String.toList_intercalate, List.map_map, hlabel]
    rfl
  unfold domainName?
  simp only [Option.bind_eq_bind, Option.bind_eq_some_iff, Option.some_inj]
  constructor
  · rintro ⟨t, ht, labels, hlabels, rfl⟩
    exact ⟨t, labels, ht, hlabels, htext labels⟩
  · rintro ⟨t, labels, ht, hlabels, hname⟩
    exact ⟨t, ht, labels, hlabels, String.toList_injective ((htext labels).trans hname.symm)⟩

theorem isWrittenChar_of_domainName? {s : List Char} {name : String}
    (h : domainName? s = some name) : ∀ c ∈ name.toList, isWrittenChar c = true := by
  obtain ⟨t, labels, _, hlabels, hname⟩ := domainName?_eq_some.mp h
  obtain ⟨images, _, hchars, hread, _⟩ := labels?_eq_some.mp hlabels
  intro c hc
  rw [hname] at hc
  rcases Text.of_mem_intercalate hc with hpoint | ⟨w, hw, hc⟩
  · rw [List.mem_singleton.mp hpoint]
    decide
  · obtain ⟨l, hl, rfl⟩ := List.mem_map.mp hw
    obtain ⟨p, hp, hl⟩ := exists_of_mem_mapM hread hl
    refine Label.isWrittenChar_of_ofChars? hl (fun d hd => ?_) c hc
    exact List.all_eq_true.mp hchars d (Text.mem_of_mem_splitOn hp hd)

/-- A name that is ASCII is read back from its written form. -/
theorem domainName?_of_isAscii {s : List Char} {name : String} (h : domainName? s = some name)
    (hs : ∀ b ∈ decodeBytes s, b.toNat < 128) : domainName? name.toList = some name := by
  have hwritten := isWrittenChar_of_domainName? h
  obtain ⟨t, labels, ht, hlabels, hname⟩ := domainName?_eq_some.mp h
  have hascii := isAscii_of_decode? ht hs
  obtain ⟨hchars, hread, hstanding⟩ := (labels?_of_isAscii hascii).mp hlabels
  have hlower : ∀ c ∈ t.toList.map Char.toLower, isAscii c = true := by
    intro c hc
    obtain ⟨d, hd, rfl⟩ := List.mem_map.mp hc
    exact isAscii_toLower (hascii d hd)
  have htext : name.toList = t.toList.map Char.toLower := by
    rw [hname, written_of_mapM hread, List.intercalate_splitOn]
    intro p hp c hc
    exact hlower c (Text.mem_of_mem_splitOn hp hc)
  have hsame : name.toList.map Char.toLower = t.toList.map Char.toLower := by
    rw [htext, List.map_map]
    exact List.map_congr_left fun c hc => toLower_toLower (hascii c hc)
  have hpercent : '%' ∉ name.toList := fun hc => Bool.false_ne_true (hwritten '%' hc)
  refine domainName?_eq_some.mpr ⟨name, labels, ?_, ?_, hname⟩
  · rw [decode?_eq_self hpercent, String.ofList_toList]
  · refine (labels?_of_isAscii fun c hc => ?_).mpr ?_
    · exact (isWrittenChar_iff.mp (hwritten c hc)).1
    · rw [hsame]
      exact ⟨hchars, hread, hstanding⟩

theorem standing_of_isAscii {labels : List Label}
    (h : ∀ l ∈ labels, ∀ c ∈ l.shown, isAscii c = true) : standing labels = true := by
  have hsound : labels.all Label.isSound = true := by
    rw [List.all_eq_true]
    intro l hl
    have hmark : l.shown.head?.any Unicode.isMark = false := by
      rw [Option.any_eq_false]
      intro c hc
      exact Unicode.isMark_of_isAscii (h l hl c (List.mem_of_head? hc))
    rw [Label.isSound, hmark, Unicode.joinersStand_of_isAscii (h l hl)]
    rfl
  have hturns : labels.any (·.shown.any Unicode.turns) = false := by
    rw [List.any_eq_false]
    intro l hl
    rw [Bool.not_eq_true, List.any_eq_false]
    intro c hc
    rw [Unicode.turns_of_isAscii (h l hl c hc)]
    exact Bool.false_ne_true
  rw [standing, hsound, hturns]
  rfl

theorem ofChars?_of_digits {s : List Char} (hs : ∀ c ∈ s, c.isDigit = true) :
    Label.ofChars? s = some ⟨s, s⟩ := by
  have hmark : Label.asciiMark.isPrefixOf s = false := by
    cases s with
    | nil => rfl
    | cons c s =>
      have hc := hs c List.mem_cons_self
      have hx : c ≠ 'x' := by
        rintro rfl
        cases hc
      simp [Label.asciiMark, List.isPrefixOf, hx.symm]
  rw [Label.ofChars?, hmark]
  exact if_pos (List.all_eq_true.mpr fun c hc => isAscii_of_isDigit (hs c hc))

theorem domainName?_text (a : IPv4) : domainName? a.text.toList = some a.text := by
  have hchar : ∀ c : Char, c.isDigit = true ∨ c = '.' →
      isWrittenChar c = true ∧ c.toLower = c := by
    intro c hc
    have hascii : isAscii c = true := by
      rcases hc with hc | rfl
      · exact isAscii_of_isDigit hc
      · rfl
    exact forall_isAscii (p := fun c => c.isDigit = true ∨ c = '.' →
      isWrittenChar c = true ∧ c.toLower = c) (by decide) hascii hc
  have hchars : ∀ c ∈ a.text.toList, isWrittenChar c = true ∧ c.toLower = c :=
    fun c hc => hchar c (IPv4.isDigit_or_point_of_mem_text hc)
  have hascii : ∀ c ∈ a.text.toList, isAscii c = true :=
    fun c hc => (isWrittenChar_iff.mp (hchars c hc).1).1
  have hpercent : '%' ∉ a.text.toList := fun hc => Bool.false_ne_true (hchars '%' hc).1
  have hlower : a.text.toList.map Char.toLower = a.text.toList := by
    conv_rhs => rw [← List.map_id a.text.toList]
    exact List.map_congr_left fun c hc => (hchars c hc).2
  have hdigits : ∀ p ∈ a.text.toList.splitOn '.', ∀ c ∈ p, c.isDigit = true := by
    rw [IPv4.splitOn_text]
    intro p hp c hc
    obtain ⟨n, _, rfl⟩ := List.mem_map.mp hp
    exact Text.isDigit_of_mem_repr hc
  refine domainName?_eq_some.mpr
    ⟨a.text, (a.text.toList.splitOn '.').map fun p => ⟨p, p⟩, ?decode, ?labels, ?text⟩
  case decode => rw [decode?_eq_self hpercent, String.ofList_toList]
  case labels =>
    rw [labels?_of_isAscii hascii, hlower]
    refine ⟨?_, Json.mapM_eq_map fun p hp => ofChars?_of_digits (hdigits p hp), ?_⟩
    · exact List.all_eq_true.mpr fun c hc => (isWrittenChar_iff.mp (hchars c hc).1).2
    · apply standing_of_isAscii
      intro l hl c hc
      obtain ⟨p, hp, rfl⟩ := List.mem_map.mp hl
      exact isAscii_of_isDigit (hdigits p hp c hc)
  case text =>
    rw [List.map_map]
    exact ((congrArg _ (List.map_id _)).trans (List.intercalate_splitOn '.')).symm

end Url

end InsectPortal
