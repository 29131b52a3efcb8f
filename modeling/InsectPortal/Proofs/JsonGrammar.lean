import InsectPortal.Proofs.JsonNumeral
import InsectPortal.Proofs.StringLiteral

/-!
# Texts of a value

The grammar of a JSON text, apart from the reader: the tokens of a value in order, each in any of
its spellings, with gaps around them. Whatever the value holds and however deep it is, it is read
from every text that spells it. What `spell` writes is one of the spellings.
-/
namespace InsectPortal.Json

def Token.IsFixed : Token → Prop
  | .number _ | .text _ => False
  | _ => True

/-- What may stand for a token. A literal whose surrogates do not pair up has no text, but it is a
literal. -/
inductive SpellsToken : List Char → Token → Prop where
  | fixed {t} : t.IsFixed → SpellsToken t.spell t
  | number {w n} : SpellsNumeral w n → SpellsToken w (.number n)
  | text {w s} : IsLiteral w s.toList → SpellsToken w (.text (some s))
  | unpaired {body gs} : SpellsGlyphs body gs → (∀ s, ¬ SpellsText body s) →
      SpellsToken ('"' :: (body ++ ['"'])) (.text none)

/-- The text is these tokens, with gaps around them. -/
inductive Spells : List Char → List Token → Prop where
  | nil {gap} : gap.all isGap = true → Spells gap []
  | cons {gap w rest t ts} : gap.all isGap = true → SpellsToken w t → Spells rest ts →
      Spells (gap ++ (w ++ rest)) (t :: ts)

theorem spells_append {ts us : List Token} {text : List Char} :
    Spells text (ts ++ us) → ∃ a b, text = a ++ b ∧ Spells a ts ∧ Spells b us := by
  induction ts generalizing text with
  | nil => exact fun h => ⟨[], text, rfl, .nil rfl, h⟩
  | cons t ts ih =>
    intro h
    cases h with
    | @cons gap w rest _ _ hgap hw hrest =>
      obtain ⟨a, b, rfl, ha, hb⟩ := ih hrest
      exact ⟨gap ++ (w ++ a), b, by simp, .cons hgap hw ha, hb⟩

theorem spells_gap {gap text : List Char} {ts : List Token} (hgap : gap.all isGap = true)
    (h : Spells text ts) : Spells (gap ++ text) ts := by
  have happend : ∀ before, before.all isGap = true → (gap ++ before).all isGap = true :=
    fun before hb => by rw [List.all_append, hgap, hb, Bool.and_self]
  cases h with
  | nil hend => exact .nil (happend _ hend)
  | cons hbefore hw hrest =>
    rw [← List.append_assoc]
    exact .cons (happend _ hbefore) hw hrest

theorem Spells.append {ts us : List Token} {a b : List Char} (ha : Spells a ts)
    (hb : Spells b us) : Spells (a ++ b) (ts ++ us) := by
  induction ha with
  | nil hgap => exact spells_gap hgap hb
  | cons hgap hw _ ih =>
    rw [List.append_assoc, List.append_assoc]
    exact .cons hgap hw ih

theorem token?_parts {body : List Char} {gs : List Glyph} (h : SpellsGlyphs body gs)
    (rest : List Char) : token? '"' (body ++ '"' :: rest) =
      some (.text ((joinGlyphs gs).map String.ofList), rest) := by
  rw [token?, glyphs?_parts h, Option.map_some]

theorem tokens?_word {w : List Char} {t : Token} (hw : SpellsToken w t) (ht : ∀ n, t ≠ .number n)
    (rest : List Char) : tokens? (w ++ rest) = (tokens? rest).map (t :: ·) := by
  cases hw with
  | fixed hfixed =>
    refine tokens?_spell ?_ rest
    cases t with
    | number | text => exact hfixed.elim
    | _ => trivial
  | number => exact absurd rfl (ht _)
  | text hliteral =>
    obtain ⟨body, hbody, rfl⟩ := hliteral
    obtain ⟨gs, hgs, hjoin⟩ := exists_joinGlyphs hbody
    rw [List.cons_append, List.append_assoc, List.singleton_append]
    refine tokens?_cons (by decide) ?_
    rw [token?_parts hgs, hjoin, Option.map_some, String.ofList_toList]
  | @unpaired body gs hgs hnone =>
    have hjoin : joinGlyphs gs = none := by
      rw [Option.eq_none_iff_forall_ne_some]
      exact fun s hs => hnone s (spellsText_of_joinGlyphs hgs hs)
    rw [List.cons_append, List.append_assoc, List.singleton_append]
    refine tokens?_cons (by decide) ?_
    rw [token?_parts hgs, hjoin, Option.map_none]

theorem endsNumber_nil : EndsNumber [] := by
  constructor <;> simp [EndsDigits]

theorem endsNumber_gap {gap rest : List Char} (hgap : gap.all isGap = true) (h : EndsNumber rest) :
    EndsNumber (gap ++ rest) := by
  cases gap with
  | nil => exact h
  | cons c gap =>
    have hc : isGap c = true := (Bool.and_eq_true_iff.mp hgap).1
    simp only [isGap, Bool.or_eq_true, beq_iff_eq] at hc
    rcases hc with ((rfl | rfl) | rfl) | rfl <;> constructor <;> simp [EndsDigits] <;> decide

def Token.IsBreak : Token → Prop
  | .comma | .closeArray | .closeObject => True
  | _ => False

theorem Token.IsBreak.endsNumber {t : Token} (ht : t.IsBreak) {w : List Char}
    (hw : SpellsToken w t) (rest : List Char) : EndsNumber (w ++ rest) := by
  cases hw with
  | fixed =>
    cases t with
    | comma | closeArray | closeObject => constructor <;> simp [EndsDigits, spell]; decide
    | _ => exact ht.elim
  | number | text | unpaired => exact ht.elim

theorem Token.IsBreak.not_number {t : Token} (ht : t.IsBreak) (n : Numeral) : t ≠ .number n := by
  rintro rfl
  exact ht

/-- These tokens are read from each of their texts, in front of any text that no number goes on
into. -/
def ReadsBack (ts : List Token) : Prop :=
  ∀ text rest, Spells text ts → EndsNumber rest →
    tokens? (text ++ rest) = (tokens? rest).map (ts ++ ·)

theorem readsBack_nil : ReadsBack [] := by
  intro text rest h _
  cases h with
  | nil hgap =>
    rw [tokens?_gap hgap]
    cases tokens? rest <;> rfl

theorem readsBack_cons {t : Token} {ts : List Token} (ht : ∀ n, t ≠ .number n)
    (h : ReadsBack ts) : ReadsBack (t :: ts) := by
  intro text rest htext hrest
  cases htext with
  | cons hgap hw hmore =>
    rw [List.append_assoc, tokens?_gap hgap, List.append_assoc, tokens?_word hw ht,
      h _ rest hmore hrest, Option.map_map]
    rfl

theorem readsBack_number (n : Numeral) : ReadsBack [.number n] := by
  intro text rest htext hrest
  cases htext with
  | cons hgap hw hmore =>
    cases hw with
    | fixed hfixed => exact hfixed.elim
    | number hw =>
      cases hmore with
      | nil hafter =>
        rw [List.append_assoc, tokens?_gap hgap, List.append_assoc,
          tokens?_number hw (endsNumber_gap hafter hrest), tokens?_gap hafter]
        rfl

theorem readsBack_break {ts us : List Token} {t : Token} (h : ReadsBack ts) (ht : t.IsBreak)
    (hu : ReadsBack us) : ReadsBack (ts ++ t :: us) := by
  intro text rest htext hrest
  obtain ⟨a, b, rfl, ha, hb⟩ := spells_append htext
  have hends : EndsNumber (b ++ rest) := by
    cases hb with
    | cons hgap hw hmore =>
      rw [List.append_assoc, List.append_assoc]
      exact endsNumber_gap hgap (ht.endsNumber hw _)
  rw [List.append_assoc, h a _ ha hends, readsBack_cons ht.not_number hu b rest hb hrest,
    Option.map_map]
  simp only [Function.comp_def, List.append_assoc]

mutual

theorem readsBack_write (v : Json) : ReadsBack v.write := by
  match v with
  | .null => exact readsBack_cons (by simp) readsBack_nil
  | .bool _ => exact readsBack_cons (by simp) readsBack_nil
  | .number n => exact readsBack_number n
  | .text _ => exact readsBack_cons (by simp) readsBack_nil
  | .array items =>
    exact readsBack_cons (by simp)
      (readsBack_break (readsBack_writeItems items) trivial readsBack_nil)
  | .object members =>
    exact readsBack_cons (by simp)
      (readsBack_break (readsBack_writeMembers members) trivial readsBack_nil)

theorem readsBack_writeItems (items : List Json) : ReadsBack (writeItems items) := by
  match items with
  | [] => exact readsBack_nil
  | [v] => exact readsBack_write v
  | v :: w :: rest =>
    exact readsBack_break (readsBack_write v) trivial (readsBack_writeItems (w :: rest))

theorem readsBack_writeMembers (members : List (Literal × Json)) :
    ReadsBack (writeMembers members) := by
  match members with
  | [] => exact readsBack_nil
  | [(_, v)] => exact readsBack_cons (by simp) (readsBack_cons (by simp) (readsBack_write v))
  | (_, v) :: m :: rest =>
    exact readsBack_cons (by simp) (readsBack_cons (by simp)
      (readsBack_break (readsBack_write v) trivial (readsBack_writeMembers (m :: rest))))

end

/-- A value is read from every text that spells it. -/
theorem parse?_of_spells {text : String} {v : Json} (h : Spells text.toList v.write) :
    parse? text = some v := by
  have hread := readsBack_write v _ [] h endsNumber_nil
  rw [List.append_nil, tokens?] at hread
  apply parse?_of_tokens
  rw [hread, Option.map_some, List.append_nil]

theorem isLiteral_quote (s : List Char) : IsLiteral (quote s) s := by
  obtain ⟨gs, hgs, hread⟩ := glyphs?_quoted s []
  obtain ⟨body, hbody, heq⟩ := exists_parts hread
  have hwritten : s.flatMap escape = body := List.append_cancel_right heq
  rw [quote, hwritten]
  exact ⟨body, spellsText_of_joinGlyphs hbody (joinGlyphs_spelled hgs), rfl⟩

theorem spellsToken_spell {t : Token} (h : t ≠ .text none) : SpellsToken t.spell t := by
  cases t with
  | number n => exact .number (spellsNumeral_spellNumeral n)
  | text l =>
    cases l with
    | none => exact absurd rfl h
    | some s => exact .text (isLiteral_quote s.toList)
  | _ => exact .fixed trivial

theorem spells_cons {t : Token} {ts : List Token} {rest : List Char} (h : t ≠ .text none)
    (hrest : Spells rest ts) : Spells (t.spell ++ rest) (t :: ts) :=
  @Spells.cons [] _ _ _ _ rfl (spellsToken_spell h) hrest

theorem spells_spell {ts : List Token} (h : ∀ t ∈ ts, t ≠ .text none) :
    Spells (ts.flatMap Token.spell) ts := by
  induction ts with
  | nil => exact .nil rfl
  | cons t ts ih =>
    obtain ⟨ht, hts⟩ := List.forall_mem_cons.mp h
    exact spells_cons ht (ih hts)

end InsectPortal.Json
