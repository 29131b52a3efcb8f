import InsectPortal.Proofs.Bytes
import InsectPortal.Proofs.JsonReading
import InsectPortal.Proofs.JsonText

/-!
# String literals

The grammar of a string literal, apart from the reader: each character stands for itself, or behind a
backslash, or as the digits of its UTF-16 code units. The reader finds a string in exactly the texts
that are a literal with gaps around it, and it is the one the literal spells.
-/
namespace InsectPortal

namespace Text

def IsHexDigit (c : Char) (n : Nat) : Prop := n < 16 ∧ (c = hexDigit n ∨ c = hexDigitUpper n)

theorem hexDigit?_eq_some_iff {c : Char} {n : Nat} : hexDigit? c = some n ↔ IsHexDigit c n := by
  constructor
  · intro h
    have hc := Char.ofNat_toNat c
    rcases hexDigit?_eq_some h with ⟨hcode, hn⟩ | ⟨hten, hn, hcode | hcode⟩
    · refine ⟨by omega, Or.inl ?_⟩
      rw [hexDigit, if_pos hn, ← hcode, hc]
    · refine ⟨hn, Or.inl ?_⟩
      rw [hexDigit, if_neg (by omega), ← hcode, hc]
    · refine ⟨hn, Or.inr ?_⟩
      rw [hexDigitUpper, if_neg (by omega), ← hcode, hc]
  · rintro ⟨hn, rfl | rfl⟩
    · exact hexDigit?_hexDigit n hn
    · exact hexDigit?_hexDigitUpper n hn

end Text

namespace Json

open Text (IsHexDigit hexDigit?_eq_some_iff)

def shortEscapes : List (Char × Char) :=
  [('"', '"'), ('\\', '\\'), ('/', '/'), ('b', '\x08'), ('f', '\x0c'), ('n', '\n'), ('r', '\r'),
    ('t', '\t')]

/-- Four digits and the code unit they number. -/
inductive SpellsUnit : List Char → Nat → Prop where
  | digits {a b c d i j k l} : IsHexDigit a i → IsHexDigit b j → IsHexDigit c k → IsHexDigit d l →
      SpellsUnit [a, b, c, d] (i * 4096 + j * 256 + k * 16 + l)

/-- What may stand for a character in a literal. -/
inductive SpellsChar : List Char → Char → Prop where
  | plain {c} : 0x20 ≤ c.toNat → c ≠ '"' → c ≠ '\\' → SpellsChar [c] c
  | short {e c} : (e, c) ∈ shortEscapes → SpellsChar ['\\', e] c
  | unit {ds u} : SpellsUnit ds u → ¬ (0xD800 ≤ u ∧ u < 0xE000) →
      SpellsChar ('\\' :: 'u' :: ds) (.ofNat u)
  | pair {ds es u v} : SpellsUnit ds u → SpellsUnit es v → 0xD800 ≤ u → u < 0xDC00 → 0xDC00 ≤ v →
      v < 0xE000 → SpellsChar ('\\' :: 'u' :: (ds ++ '\\' :: 'u' :: es))
        (.ofNat (0x10000 + (u - 0xD800) * 1024 + (v - 0xDC00)))

inductive SpellsText : List Char → List Char → Prop where
  | nil : SpellsText [] []
  | cons {w c body s} : SpellsChar w c → SpellsText body s → SpellsText (w ++ body) (c :: s)

/-- The text is a string literal of this value. -/
def IsLiteral (text value : List Char) : Prop :=
  ∃ body, SpellsText body value ∧ text = '"' :: (body ++ ['"'])

theorem shortEscape?_eq_some_iff {e c : Char} :
    shortEscape? e = some c ↔ (e, c) ∈ shortEscapes := by
  constructor
  · intro h
    unfold shortEscape? at h
    split at h <;> cases h <;> simp [shortEscapes]
  · intro h
    simp only [shortEscapes, List.mem_cons, Prod.mk.injEq, List.not_mem_nil, or_false] at h
    rcases h with ⟨rfl, rfl⟩ | ⟨rfl, rfl⟩ | ⟨rfl, rfl⟩ | ⟨rfl, rfl⟩ | ⟨rfl, rfl⟩ | ⟨rfl, rfl⟩ |
      ⟨rfl, rfl⟩ | ⟨rfl, rfl⟩ <;> rfl

inductive SpellsGlyph : List Char → Glyph → Prop where
  | plain {c} : 0x20 ≤ c.toNat → c ≠ '"' → c ≠ '\\' → SpellsGlyph [c] (.char c)
  | short {e c} : (e, c) ∈ shortEscapes → SpellsGlyph ['\\', e] (.char c)
  | unit {ds u} : SpellsUnit ds u → SpellsGlyph ('\\' :: 'u' :: ds) (.unit u)

inductive SpellsGlyphs : List Char → List Glyph → Prop where
  | nil : SpellsGlyphs [] []
  | cons {w g body gs} : SpellsGlyph w g → SpellsGlyphs body gs →
      SpellsGlyphs (w ++ body) (g :: gs)

theorem glyphs?_part {w : List Char} {g : Glyph} (h : SpellsGlyph w g) (rest : List Char) :
    glyphs? (w ++ rest) = (glyphs? rest).map fun p => (g :: p.1, p.2) := by
  cases h with
  | @plain c hlow hquote hback =>
    rw [List.singleton_append, glyphs?, if_neg (by omega)]
    · cases glyphs? rest <;> rfl
    · exact hquote
    · intro a b c' d t hc _
      exact hback hc
    · intro e t hc _
      exact hback hc
  | @short e c he =>
    have hu : e ≠ 'u' := by
      rintro rfl
      revert he
      simp [shortEscapes]
    rw [List.cons_append, List.singleton_append, glyphs?, shortEscape?_eq_some_iff.mpr he]
    · cases glyphs? rest <;> rfl
    · intro a b c' d t hc _
      exact hu hc
  | unit hunit =>
    cases hunit with
    | digits ha hb hc hd =>
      simp only [List.cons_append, List.nil_append]
      rw [glyphs?, hexDigit?_eq_some_iff.mpr ha, hexDigit?_eq_some_iff.mpr hb,
        hexDigit?_eq_some_iff.mpr hc, hexDigit?_eq_some_iff.mpr hd]
      cases glyphs? rest <;> rfl

theorem glyphs?_parts {body : List Char} {gs : List Glyph} (h : SpellsGlyphs body gs)
    (rest : List Char) : glyphs? (body ++ '"' :: rest) = some (gs, rest) := by
  induction h with
  | nil => rw [List.nil_append, glyphs?]
  | cons hw _ ih =>
    rw [List.append_assoc, glyphs?_part hw, ih]
    rfl

theorem exists_parts {cs rest : List Char} {gs : List Glyph} (h : glyphs? cs = some (gs, rest)) :
    ∃ body, SpellsGlyphs body gs ∧ cs = body ++ '"' :: rest := by
  fun_induction glyphs? cs generalizing gs with
  | case1 => cases h
  | case2 after =>
    cases h
    exact ⟨[], .nil, rfl⟩
  | case3 a b c d after ih =>
    simp only [bind, Option.bind_eq_some_iff, Option.some.injEq, Prod.mk.injEq, Prod.exists] at h
    obtain ⟨i, ha, j, hb, k, hc, l, hd, gs', _, hread, rfl, rfl⟩ := h
    obtain ⟨body, hbody, rfl⟩ := ih hread
    exact ⟨_, .cons (.unit (.digits (hexDigit?_eq_some_iff.mp ha) (hexDigit?_eq_some_iff.mp hb)
      (hexDigit?_eq_some_iff.mp hc) (hexDigit?_eq_some_iff.mp hd))) hbody, rfl⟩
  | case4 e after _ ih =>
    simp only [bind, Option.bind_eq_some_iff, Option.some.injEq, Prod.mk.injEq, Prod.exists] at h
    obtain ⟨c, he, gs', _, hread, rfl, rfl⟩ := h
    obtain ⟨body, hbody, rfl⟩ := ih hread
    exact ⟨_, .cons (.short (shortEscape?_eq_some_iff.mp he)) hbody, rfl⟩
  | case5 => cases h
  | case6 c after hquote _ hback hlow ih =>
    simp only [bind, Option.bind_eq_some_iff, Option.some.injEq, Prod.mk.injEq, Prod.exists] at h
    obtain ⟨gs', _, hread, rfl, rfl⟩ := h
    have hne : c ≠ '\\' := by
      intro hc
      cases after with
      | nil =>
        rw [glyphs?] at hread
        cases hread
      | cons e after => exact hback e after hc rfl
    obtain ⟨body, hbody, rfl⟩ := ih hread
    exact ⟨_, .cons (.plain (by omega) hquote hne) hbody, rfl⟩

theorem surrogate_of_high {u : Nat} (h : isHighSurrogate u = true) : 0xD800 ≤ u ∧ u < 0xDC00 := by
  simpa [isHighSurrogate] using h

theorem surrogate_of_low {u : Nat} (h : isLowSurrogate u = true) : 0xDC00 ≤ u ∧ u < 0xE000 := by
  simpa [isLowSurrogate] using h

theorem not_surrogate {u : Nat} (hh : isHighSurrogate u = false) (hl : isLowSurrogate u = false) :
    ¬ (0xD800 ≤ u ∧ u < 0xE000) := by
  simp only [isHighSurrogate, isLowSurrogate, Bool.and_eq_false_iff, decide_eq_false_iff_not] at hh hl
  omega

theorem spellsChar_of_char {w : List Char} {c : Char} (h : SpellsGlyph w (.char c)) :
    SpellsChar w c := by
  cases h with
  | plain hlow hquote hback => exact .plain hlow hquote hback
  | short he => exact .short he

theorem spellsChar_of_unit {w : List Char} {u : Nat} (h : SpellsGlyph w (.unit u))
    (hhigh : ¬ isHighSurrogate u = true) (hlow : ¬ isLowSurrogate u = true) :
    SpellsChar w (Char.ofNat u) := by
  have hu := not_surrogate (Bool.eq_false_iff.mpr hhigh) (Bool.eq_false_iff.mpr hlow)
  cases h with
  | unit hdigits => exact .unit hdigits hu

theorem spellsText_of_joinGlyphs {body s : List Char} {gs : List Glyph} (h : SpellsGlyphs body gs)
    (hs : joinGlyphs gs = some s) : SpellsText body s := by
  fun_induction joinGlyphs gs generalizing body s with
  | case1 =>
    cases h
    cases hs
    exact .nil
  | case2 c rest ih =>
    obtain ⟨s', hs', rfl⟩ := Option.map_eq_some_iff.mp hs
    cases h with
    | cons hw hrest => exact .cons (spellsChar_of_char hw) (ih hrest hs')
  | case3 u v rest hhigh hlow ih =>
    obtain ⟨s', hs', rfl⟩ := Option.map_eq_some_iff.mp hs
    obtain ⟨hu, hu'⟩ := surrogate_of_high hhigh
    obtain ⟨hv, hv'⟩ := surrogate_of_low hlow
    cases h with
    | cons hw hmore =>
      cases hw with
      | unit hdigits =>
        cases hmore with
        | cons hw' hrest =>
          cases hw' with
          | unit hdigits' =>
            have hpair := SpellsText.cons (.pair hdigits hdigits' hu hu' hv hv') (ih hrest hs')
            simpa using hpair
  | case4 => cases hs
  | case5 => cases hs
  | case6 u v rest hhigh hlow ih =>
    obtain ⟨s', hs', rfl⟩ := Option.map_eq_some_iff.mp hs
    cases h with
    | cons hw hmore => exact .cons (spellsChar_of_unit hw hhigh hlow) (ih hmore hs')
  | case7 => cases hs
  | case8 rest u hnext hnone ih =>
    obtain ⟨s', hs', rfl⟩ := Option.map_eq_some_iff.mp hs
    obtain ⟨hhigh, hlow⟩ := not_or.mp (mt Bool.or_eq_true_iff.mpr hnone)
    cases h with
    | cons hw hmore => exact .cons (spellsChar_of_unit hw hhigh hlow) (ih hmore hs')

theorem joinGlyphs_unit {u : Nat} (h : ¬ (0xD800 ≤ u ∧ u < 0xE000)) (gs : List Glyph) :
    joinGlyphs (.unit u :: gs) = (joinGlyphs gs).map (Char.ofNat u :: ·) := by
  have hhigh : isHighSurrogate u = false := by
    simp only [isHighSurrogate, Bool.and_eq_false_iff, decide_eq_false_iff_not]
    omega
  have hlow : isLowSurrogate u = false := by
    simp only [isLowSurrogate, Bool.and_eq_false_iff, decide_eq_false_iff_not]
    omega
  cases gs with
  | nil => simp [joinGlyphs, hhigh, hlow]
  | cons g gs => cases g <;> simp [joinGlyphs, hhigh, hlow]

theorem exists_joinGlyphs {body s : List Char} (h : SpellsText body s) :
    ∃ gs, SpellsGlyphs body gs ∧ joinGlyphs gs = some s := by
  induction h with
  | nil => exact ⟨[], .nil, rfl⟩
  | @cons w c body s hw _ ih =>
    obtain ⟨gs, hgs, hjoin⟩ := ih
    cases hw with
    | plain hlow hquote hback =>
      refine ⟨_, .cons (.plain hlow hquote hback) hgs, ?_⟩
      rw [joinGlyphs, hjoin]
      rfl
    | short he =>
      refine ⟨_, .cons (.short he) hgs, ?_⟩
      rw [joinGlyphs, hjoin]
      rfl
    | unit hdigits hu =>
      refine ⟨_, .cons (.unit hdigits) hgs, ?_⟩
      rw [joinGlyphs_unit hu, hjoin]
      rfl
    | @pair ds es u v hdigits hdigits' hu hu' hv hv' =>
      have hparts := SpellsGlyphs.cons (.unit hdigits) (.cons (.unit hdigits') hgs)
      refine ⟨_, by simpa using hparts, ?_⟩
      have hhigh : isHighSurrogate u = true := by simp [isHighSurrogate, hu, hu']
      have hlow : isLowSurrogate v = true := by simp [isLowSurrogate, hv, hv']
      rw [joinGlyphs, if_pos hhigh, if_pos hlow, hjoin]
      rfl

theorem all_isGap_of_tokens? {cs : List Char} (h : tokens? cs = some []) : cs.all isGap = true := by
  fun_induction tokens? cs with
  | case1 => rfl
  | case2 c rest hgap ih => rw [List.all_cons, hgap, ih h, Bool.and_self]
  | case3 => cases h
  | case4 c rest hgap t after hread _ ih =>
    obtain ⟨ts, _, hcons⟩ := Option.map_eq_some_iff.mp h
    cases hcons

theorem exists_token {cs : List Char} {t : Token} (h : tokens? cs = some [t]) :
    ∃ before c rest after, before.all isGap = true ∧ cs = before ++ c :: rest ∧
      token? c rest = some (t, after) ∧ after.all isGap = true := by
  fun_induction tokens? cs with
  | case1 => cases h
  | case2 c rest hgap ih =>
    obtain ⟨before, d, rest', after, hbefore, rfl, hread, hafter⟩ := ih h
    exact ⟨c :: before, d, rest', after, by rw [List.all_cons, hgap, hbefore, Bool.and_self], rfl,
      hread, hafter⟩
  | case3 => cases h
  | case4 c rest hgap t' after hread _ ih =>
    obtain ⟨ts, hts, hcons⟩ := Option.map_eq_some_iff.mp h
    obtain ⟨rfl, rfl⟩ := List.cons.inj hcons
    exact ⟨[], c, rest, after, rfl, rfl, hread, all_isGap_of_tokens? hts⟩

theorem glyphs?_of_token? {c : Char} {rest after : List Char} {l : Literal}
    (h : token? c rest = some (.text l, after)) :
    c = '"' ∧ ∃ gs, glyphs? rest = some (gs, after) ∧ l = (joinGlyphs gs).map String.ofList := by
  unfold token? at h
  split at h
  case h_10 rest =>
    obtain ⟨⟨gs, after'⟩, hread, heq⟩ := Option.map_eq_some_iff.mp h
    obtain ⟨htoken, rfl⟩ := Prod.mk.inj heq
    exact ⟨rfl, gs, hread, (Token.text.inj htoken).symm⟩
  case h_11 =>
    obtain ⟨⟨n, after'⟩, _, heq⟩ := Option.map_eq_some_iff.mp h
    cases heq
  case h_12 =>
    obtain ⟨⟨n, after'⟩, _, heq⟩ := Option.map_eq_some_iff.mp h
    cases heq
  all_goals cases h

theorem str?_eq_some_iff {v : Json} {s : String} : v.str? = some s ↔ v = .str s := by
  cases v with
  | text t =>
    change t = some s ↔ Json.text t = .text (some s)
    rw [Json.text.injEq]
  | null | bool | number | array | object => exact ⟨fun h => (by cases h), fun h => (by cases h)⟩

/-- A text holds a string where it is a literal with gaps around it, and nowhere else. -/
theorem str?_parse?_iff {text value : String} : (parse? text).bind str? = some value ↔
    ∃ before literal after, before.all isGap = true ∧ after.all isGap = true ∧
      text.toList = before ++ literal ++ after ∧ IsLiteral literal value.toList := by
  constructor
  · intro h
    obtain ⟨v, hparse, hv⟩ := Option.bind_eq_some_iff.mp h
    rw [str?_eq_some_iff.mp hv] at hparse
    obtain ⟨ts, htokens, hts⟩ := Option.bind_eq_some_iff.mp hparse
    have hone : ts = [.text (some value)] := ofTokens?_eq_some_iff.mp hts
    rw [hone] at htokens
    obtain ⟨before, c, rest, after, hbefore, htext, hread, hafter⟩ := exists_token htokens
    obtain ⟨rfl, gs, hglyphs, hvalue⟩ := glyphs?_of_token? hread
    obtain ⟨body, hbody, rfl⟩ := exists_parts hglyphs
    obtain ⟨s, hjoin, hs⟩ := Option.map_eq_some_iff.mp hvalue.symm
    have hlist : value.toList = s := by rw [← hs, String.toList_ofList]
    refine ⟨before, '"' :: (body ++ ['"']), after, hbefore, hafter, by simpa using htext, body, ?_,
      rfl⟩
    rw [hlist]
    exact spellsText_of_joinGlyphs hbody hjoin
  · rintro ⟨before, literal, after, hbefore, hafter, htext, body, hbody, rfl⟩
    obtain ⟨gs, hgs, hjoin⟩ := exists_joinGlyphs hbody
    have hread : token? '"' (body ++ '"' :: after) = some (.text (some value), after) := by
      rw [token?, glyphs?_parts hgs, Option.map_some]
      simp only [hjoin, Option.map_some, String.ofList_toList]
    have hlast : tokens? after = some [] := by
      have hend := tokens?_gap hafter []
      rw [List.append_nil] at hend
      rw [hend, tokens?]
    have htokens : tokens? text.toList = some (Json.str value).write := by
      have hsplit : text.toList = before ++ ('"' :: (body ++ '"' :: after)) := by
        rw [htext]
        simp
      rw [hsplit, tokens?_gap hbefore, tokens?_cons (by decide) hread, hlast]
      rfl
    rw [parse?_of_tokens htokens]
    rfl

end Json

end InsectPortal
