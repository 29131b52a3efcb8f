import Mathlib.Data.List.Forall2
import InsectPortal.Json.Text

/-!
# Reading back what is written

What `spell` writes of a word, that is of any token but a number, is read back as that word,
whatever follows it, and gaps between words do not count.
-/
namespace InsectPortal.Json

open Text (hexDigit hexDigit?_hexDigit)

def Glyph.Spells (g : Glyph) (c : Char) : Prop := g = .char c ∨ g = .unit c.toNat ∧ c.toNat < 0x20

theorem glyphs?_escape (c : Char) :
    ∃ g : Glyph, g.Spells c ∧ ∀ rest, glyphs? (escape c ++ rest) =
      (glyphs? rest).map fun p => (g :: p.1, p.2) := by
  have short : ∀ e, e ≠ 'u' → shortEscape? e = some c → ∀ rest,
      glyphs? ('\\' :: e :: rest) = (glyphs? rest).map fun p => (.char c :: p.1, p.2) := by
    intro e he hs rest
    rw [glyphs?, hs]
    · cases glyphs? rest <;> rfl
    · intro a b c d t h _
      exact he h
  unfold escape
  split
  case h_8 hq hb _ _ _ _ _ =>
    split
    case isTrue h =>
      refine ⟨.unit c.toNat, Or.inr ⟨rfl, h⟩, fun rest => ?_⟩
      have hzero : Text.hexDigit? '0' = some 0 := by decide
      have hnumber : 0 * 4096 + 0 * 256 + c.toNat / 16 * 16 + c.toNat % 16 = c.toNat := by omega
      simp only [List.cons_append, List.nil_append]
      rw [glyphs?, hzero, hexDigit?_hexDigit _ (by omega), hexDigit?_hexDigit _ (by omega)]
      cases glyphs? rest with
      | none => rfl
      | some p => exact congrArg (fun u => some (Glyph.unit u :: p.1, p.2)) hnumber
    case isFalse h =>
      refine ⟨.char c, Or.inl rfl, fun rest => ?_⟩
      rw [List.singleton_append, glyphs?, if_neg h]
      · cases glyphs? rest <;> rfl
      · exact hq
      · intro a b c' d t hc _
        exact hb hc
      · intro e t hc _
        exact hb hc
  all_goals exact ⟨_, Or.inl rfl, short _ (by decide) (by decide)⟩

theorem glyphs?_quoted (s rest : List Char) :
    ∃ gs, List.Forall₂ Glyph.Spells gs s ∧
      glyphs? (s.flatMap escape ++ '"' :: rest) = some (gs, rest) := by
  induction s with
  | nil => exact ⟨[], .nil, by rw [List.flatMap_nil, List.nil_append, glyphs?]⟩
  | cons c s ih =>
    obtain ⟨gs, hgs, hread⟩ := ih
    obtain ⟨g, hg, hc⟩ := glyphs?_escape c
    refine ⟨g :: gs, .cons hg hgs, ?_⟩
    rw [List.flatMap_cons, List.append_assoc, hc, hread]
    rfl

theorem joinGlyphs_spelled {gs : List Glyph} {s : List Char} (h : List.Forall₂ Glyph.Spells gs s) :
    joinGlyphs gs = some s := by
  induction h with
  | nil => rfl
  | @cons g c gs s hg hgs ih =>
    rcases hg with rfl | ⟨rfl, hlow⟩
    · rw [joinGlyphs, ih]
      rfl
    · have hhigh : isHighSurrogate c.toNat = false := by
        simp only [isHighSurrogate, Bool.and_eq_false_iff, decide_eq_false_iff_not]
        omega
      have hsecond : isLowSurrogate c.toNat = false := by
        simp only [isLowSurrogate, Bool.and_eq_false_iff, decide_eq_false_iff_not]
        omega
      have hmap : (joinGlyphs gs).map (Char.ofNat c.toNat :: ·) = some (c :: s) := by
        rw [ih, Char.ofNat_toNat]
        rfl
      cases gs with
      | nil => simpa [joinGlyphs, hhigh, hsecond] using hmap
      | cons g' gs' =>
        cases g' with
        | char => simpa [joinGlyphs, hhigh, hsecond] using hmap
        | unit => simpa [joinGlyphs, hhigh, hsecond] using hmap

/-- A token that is no number and, where it is a literal, has a text. -/
def Token.IsWord : Token → Prop
  | .number _ | .text none => False
  | _ => True

theorem tokens?_gap {gap : List Char} (h : gap.all isGap = true) (rest : List Char) :
    tokens? (gap ++ rest) = tokens? rest := by
  induction gap with
  | nil => rfl
  | cons c gap ih =>
    obtain ⟨hc, hgap⟩ := Bool.and_eq_true_iff.mp h
    rw [List.cons_append, tokens?, if_pos hc]
    exact ih hgap

theorem tokens?_cons {c : Char} {text rest : List Char} {t : Token} (hc : isGap c = false)
    (h : token? c text = some (t, rest)) :
    tokens? (c :: text) = (tokens? rest).map (t :: ·) := by
  rw [tokens?, if_neg (by rw [hc]; exact Bool.false_ne_true)]
  split
  case h_1 hn => cases h.symm.trans hn
  case h_2 t' after hs =>
    obtain ⟨rfl, rfl⟩ := Prod.mk.inj (Option.some.inj (h.symm.trans hs))
    rfl

theorem token?_quoted (s : String) (rest : List Char) :
    token? '"' (s.toList.flatMap escape ++ '"' :: rest) = some (.text (some s), rest) := by
  obtain ⟨gs, hgs, hread⟩ := glyphs?_quoted s.toList rest
  rw [token?, hread, Option.map_some]
  simp only [joinGlyphs_spelled hgs, Option.map_some, String.ofList_toList]

theorem tokens?_spell {t : Token} (h : t.IsWord) (rest : List Char) :
    tokens? (t.spell ++ rest) = (tokens? rest).map (t :: ·) := by
  cases t with
  | number => exact h.elim
  | text s =>
    cases s with
    | none => exact h.elim
    | some s =>
      have hs : (Token.text (some s)).spell ++ rest =
          '"' :: (s.toList.flatMap escape ++ '"' :: rest) := by
        simp [Token.spell, quote]
      rw [hs, tokens?_cons (by decide) (token?_quoted s rest)]
  | bool b =>
    cases b with
    | false => exact tokens?_cons (by decide) rfl
    | true => exact tokens?_cons (by decide) rfl
  | _ => exact tokens?_cons (by decide) rfl

theorem parse?_of_tokens {text : String} {v : Json} (h : tokens? text.toList = some v.write) :
    parse? text = some v := by
  rw [parse?, ofChars?, h]
  exact ofTokens?_write v

end InsectPortal.Json
