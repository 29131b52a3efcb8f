import InsectPortal.Proofs.InputRule
import InsectPortal.Proofs.StringLiteral

/-!
# Names of roles

Which answers of the role lookup name a role. The blanks around a text do not count, nor those inside
a string literal, and a literal may escape its characters. Only the names of the three privileged
roles give one of them; whatever else the answer is, the account is a common user.
-/
namespace InsectPortal

namespace Text

/-- The text is this one with blanks around it. -/
def Pads (s core : List Char) : Prop :=
  ∃ before after, (∀ c ∈ before, isBlank c = true) ∧ (∀ c ∈ after, isBlank c = true) ∧
    s = before ++ core ++ after

theorem Pads.trans {s t u : List Char} (h : Pads s t) (h' : Pads t u) : Pads s u := by
  obtain ⟨before, after, hbefore, hafter, rfl⟩ := h
  obtain ⟨before', after', hbefore', hafter', rfl⟩ := h'
  refine ⟨before ++ before', after' ++ after, ?_, ?_, by simp⟩
  · intro c hc
    exact (List.mem_append.mp hc).elim (hbefore c) (hbefore' c)
  · intro c hc
    exact (List.mem_append.mp hc).elim (hafter' c) (hafter c)

theorem pads_refl (s : List Char) : Pads s s := ⟨[], [], by simp, by simp, by simp⟩

theorem pads_trim (s : String) : Pads s.toList (trim s).toList := by
  have hfront := List.takeWhile_append_dropWhile (p := isBlank) (l := s.toList)
  have hback := List.rdropWhile_append_rtakeWhile (p := isBlank) (l := s.toList.dropWhile isBlank)
  refine ⟨s.toList.takeWhile isBlank, (s.toList.dropWhile isBlank).rtakeWhile isBlank, ?_, ?_, ?_⟩
  · intro c hc
    exact List.mem_takeWhile_imp hc
  · intro c hc
    exact List.mem_rtakeWhile_imp hc
  · rw [toList_trim, List.append_assoc, hback, hfront]

theorem trim_of_pads {s t : String} (h : Pads s.toList t.toList) (ht : IsTrimmed t) :
    trim s = t := by
  obtain ⟨before, after, hbefore, hafter, hs⟩ := h
  apply String.toList_injective
  rw [toList_trim, hs, List.append_assoc, List.dropWhile_append_of_pos hbefore]
  have hfirst : t.toList ≠ [] → (t.toList ++ after).dropWhile isBlank = t.toList ++ after := by
    intro hne
    obtain ⟨c, rest, hcons⟩ := List.exists_cons_of_ne_nil hne
    have hc := ht.first c (by rw [hcons]; rfl)
    rw [hcons, List.cons_append, List.dropWhile_cons_of_neg (by simp [hc])]
  by_cases hne : t.toList = []
  · rw [hne, List.nil_append, List.dropWhile_eq_nil_iff.mpr hafter, List.rdropWhile_nil]
  · rw [hfirst hne, List.rdropWhile, List.reverse_append, List.dropWhile_append_of_pos]
    · have hlast := ht.last _ (List.getLast?_eq_some_getLast hne)
      exact List.rdropWhile_eq_self_iff.mpr fun _ => by simp [hlast]
    · intro c hc
      exact hafter c (List.mem_reverse.mp hc)

theorem trim_eq_of_pads {s t : String} (h : Pads s.toList t.toList) : trim s = trim t :=
  trim_of_pads (h.trans (pads_trim t)) (isTrimmed_trim t)

theorem trim_of_isTrimmed {s : String} (h : IsTrimmed s) : trim s = s :=
  trim_of_pads (pads_refl _) h

end Text

open Text (Pads IsTrimmed)

namespace Json

theorem isBlank_of_isGap {c : Char} (h : isGap c = true) : Text.isBlank c = true := by
  simp only [isGap, Bool.or_eq_true, beq_iff_eq] at h
  rcases h with ((rfl | rfl) | rfl) | rfl <;> decide

theorem pads_of_gaps {before core after : List Char} (hbefore : before.all isGap = true)
    (hafter : after.all isGap = true) : Pads (before ++ core ++ after) core := by
  refine ⟨before, after, fun c hc => ?_, fun c hc => ?_, rfl⟩
  · exact isBlank_of_isGap (List.all_eq_true.mp hbefore c hc)
  · exact isBlank_of_isGap (List.all_eq_true.mp hafter c hc)

theorem IsLiteral.isTrimmed {literal : String} {value : List Char}
    (h : IsLiteral literal.toList value) : IsTrimmed literal := by
  obtain ⟨body, _, htext⟩ := h
  constructor <;> intro c hc
  · rw [htext] at hc
    cases hc
    decide
  · rw [htext, List.getLast?_cons, List.getLast?_concat] at hc
    cases hc
    decide

theorem IsLiteral.quote_mem {text value : List Char} (h : IsLiteral text value) : '"' ∈ text := by
  obtain ⟨body, _, rfl⟩ := h
  exact List.mem_cons_self

theorem plain_of_literal {body value : String} {literal : List Char}
    (hbody : Pads body.toList literal) (h : IsLiteral literal value.toList) : plain body = value := by
  obtain ⟨text, rfl⟩ : ∃ text : String, text.toList = literal := ⟨_, String.toList_ofList⟩
  have htrim : Text.trim body = text := Text.trim_of_pads hbody h.isTrimmed
  have hread : (parse? text).bind str? = some value :=
    str?_parse?_iff.mpr ⟨[], _, [], rfl, rfl, by simp, h⟩
  rw [plain, htrim, hread, Option.getD_some]

theorem plain_cases (body : String) :
    (∃ literal, Pads body.toList literal ∧ IsLiteral literal (plain body).toList) ∨
      plain body = Text.trim body := by
  rw [plain]
  cases hread : (parse? (Text.trim body)).bind str? with
  | none => exact Or.inr rfl
  | some value =>
    obtain ⟨before, literal, after, hbefore, hafter, htext, hliteral⟩ := str?_parse?_iff.mp hread
    have hpads : Pads (Text.trim body).toList literal := by
      rw [htext]
      exact pads_of_gaps hbefore hafter
    exact Or.inl ⟨literal, (Text.pads_trim body).trans hpads, hliteral⟩

theorem plain_of_pads {padded body : String} (h : Pads padded.toList body.toList) :
    plain padded = plain body := by
  rw [plain, plain, Text.trim_eq_of_pads h]

theorem spellsText_self {s : List Char}
    (h : s.all (fun c => 0x20 ≤ c.toNat && c != '"' && c != '\\') = true) : SpellsText s s := by
  induction s with
  | nil => exact .nil
  | cons c s ih =>
    simp only [List.all_cons, Bool.and_eq_true, decide_eq_true_eq, bne_iff_ne] at h
    obtain ⟨⟨⟨hlow, hquote⟩, hback⟩, hrest⟩ := h
    exact .cons (.plain hlow hquote hback) (ih hrest)

end Json

namespace Role

open Json (IsLiteral)

/-- An answer that is this name: as it is, or as the value of a string literal. -/
inductive NamedBy (name : String) (body : List Char) : Prop where
  | bare : Pads body name.toList → NamedBy name body
  | quoted {literal value} : Pads body literal → IsLiteral literal value →
      Pads value name.toList → NamedBy name body

theorem namedBy_iff {name body : String} (htrim : IsTrimmed name) (hquote : '"' ∉ name.toList) :
    NamedBy name body.toList ↔ Text.trim (Json.plain body) = name := by
  constructor
  · rintro (hpads | @⟨literal, value, hpads, hliteral, hvalue⟩)
    · have hbody : Text.trim body = name := Text.trim_of_pads hpads htrim
      rcases Json.plain_cases name with ⟨literal, hliteral, hspells⟩ | hplain
      · obtain ⟨before, after, _, _, htext⟩ := hliteral
        refine absurd ?_ hquote
        rw [htext]
        exact List.mem_append_left _ (List.mem_append_right _ hspells.quote_mem)
      · rw [Json.plain_of_pads hpads, hplain, Text.trim_of_isTrimmed htrim,
          Text.trim_of_isTrimmed htrim]
    · rw [← String.toList_ofList (l := value)] at hliteral hvalue
      rw [Json.plain_of_literal hpads hliteral]
      exact Text.trim_of_pads hvalue htrim
  · intro h
    have hvalue := Text.pads_trim (Json.plain body)
    rw [h] at hvalue
    rcases Json.plain_cases body with ⟨literal, hpads, hliteral⟩ | hplain
    · exact .quoted hpads hliteral hvalue
    · rw [hplain] at hvalue
      exact .bare ((Text.pads_trim body).trans hvalue)

theorem isTrimmed_wire {r : Role} {name : String} (h : r.wire? = some name) : IsTrimmed name := by
  -- as a test on the two ends: a statement on every character would be decided for each of them
  have hends : (name.toList.head?.all (!Text.isBlank ·) &&
      name.toList.getLast?.all (!Text.isBlank ·)) = true := by
    cases r with
    | unknown => cases h
    | commonUser | userAdmin | modelAdmin | superRoot =>
      cases h
      decide +kernel
  simp only [Bool.and_eq_true, Option.all_eq_true, Bool.not_eq_true'] at hends
  exact ⟨hends.1, hends.2⟩

theorem quote_not_mem_wire {r : Role} {name : String} (h : r.wire? = some name) :
    '"' ∉ name.toList := by
  cases r with
  | unknown => cases h
  | commonUser | userAdmin | modelAdmin | superRoot =>
    cases h
    decide +kernel

theorem wire?_ofName (s : String) : ofName s = .commonUser ∨ (ofName s).wire? = some s := by
  rw [ofName]
  split
  · rename_i hs
    exact Or.inr (by rw [hs]; rfl)
  split
  · rename_i hs
    exact Or.inr (by rw [hs]; rfl)
  split
  · rename_i hs
    exact Or.inr (by rw [hs]; rfl)
  · exact Or.inl rfl

theorem ofName_wire {r : Role} {name : String} (h : r.wire? = some name) : ofName name = r := by
  cases r with
  | unknown => cases h
  | commonUser | userAdmin | modelAdmin | superRoot =>
    cases h
    decide +kernel

theorem ofName_eq_iff {r : Role} {name s : String} (h : r.wire? = some name)
    (hr : r ≠ .commonUser) : ofName s = r ↔ s = name := by
  constructor
  · intro hs
    rcases wire?_ofName s with hcommon | hwire
    · exact absurd (hs.symm.trans hcommon) hr
    · rw [hs, h] at hwire
      exact (Option.some.inj hwire).symm
  · rintro rfl
    exact ofName_wire h

theorem decode_eq_iff {r : Role} {name body : String} (h : r.wire? = some name)
    (hr : r ≠ .commonUser) : decode body = r ↔ NamedBy name body.toList := by
  rw [namedBy_iff (isTrimmed_wire h) (quote_not_mem_wire h)]
  exact ofName_eq_iff h hr

theorem decode_of_namedBy {r : Role} {name body : String} (h : r.wire? = some name)
    (hbody : NamedBy name body.toList) : decode body = r := by
  rw [decode, (namedBy_iff (isTrimmed_wire h) (quote_not_mem_wire h)).mp hbody]
  exact ofName_wire h

theorem exists_wire_of_ne {r : Role} (h : r ≠ .unknown) : ∃ name, r.wire? = some name := by
  cases r with
  | unknown => exact absurd rfl h
  | commonUser | userAdmin | modelAdmin | superRoot => exact ⟨_, rfl⟩

/-- A privileged role is decoded from its name and from nothing else, blanks around an answer change
nothing, and each role is known again by its name, as it is or in a string literal. -/
theorem decode_by_name :
    (∀ body : String,
      (∀ (r : Role) name, r.wire? = some name → r ≠ .commonUser →
        (decode body = r ↔ NamedBy name body.toList)) ∧
      ((∀ (r : Role) name, r.wire? = some name → NamedBy name body.toList → r = .commonUser) →
        decode body = .commonUser) ∧
      decode body ≠ .unknown) ∧
    (∀ padded body : String, Pads padded.toList body.toList → decode padded = decode body) ∧
    ∀ (r : Role) name, r.wire? = some name → decode name = r ∧
      ∀ literal : String, IsLiteral literal.toList name.toList → decode literal = r := by
  refine ⟨fun body => ⟨?privileged, ?other, decode_ne_unknown body⟩, ?padded, ?known⟩
  case privileged =>
    intro r name h hr
    exact decode_eq_iff h hr
  case other =>
    intro hnone
    obtain ⟨name, hname⟩ := exists_wire_of_ne (decode_ne_unknown body)
    by_contra hne
    exact hne (hnone _ name hname ((decode_eq_iff hname hne).mp rfl))
  case padded =>
    intro padded body h
    rw [decode, decode, Json.plain_of_pads h]
  case known =>
    intro r name h
    refine ⟨decode_of_namedBy h (.bare (Text.pads_refl _)), fun literal hliteral => ?_⟩
    exact decode_of_namedBy h (.quoted (Text.pads_refl _) hliteral (Text.pads_refl _))

/-- The first letter as an escape, blanks within the literal and around it. -/
theorem super_root_known_escaped :
    let body := "\u00a0\"\\u0053uper Root \"\n"
    NamedBy "Super Root" body.toList ∧ decode body = .superRoot := by
  intro body
  have hunit : Json.SpellsUnit ['0', '0', '5', '3'] (0 * 4096 + 0 * 256 + 5 * 16 + 3) :=
    .digits ⟨by decide, .inl rfl⟩ ⟨by decide, .inl rfl⟩ ⟨by decide, .inl rfl⟩ ⟨by decide, .inl rfl⟩
  have hrest : Json.SpellsText "uper Root ".toList "uper Root ".toList :=
    Json.spellsText_self (by decide +kernel)
  have hliteral : IsLiteral "\"\\u0053uper Root \"".toList "Super Root ".toList :=
    ⟨_, .cons (.unit hunit (by omega)) hrest, rfl⟩
  have haround : Pads body.toList "\"\\u0053uper Root \"".toList :=
    ⟨['\u00a0'], ['\n'], List.forall_mem_singleton.mpr rfl, List.forall_mem_singleton.mpr rfl,
      by decide +kernel⟩
  have hwithin : Pads "Super Root ".toList "Super Root".toList :=
    ⟨[], [' '], List.forall_mem_nil _, List.forall_mem_singleton.mpr rfl, by decide +kernel⟩
  have hnamed : NamedBy "Super Root" body.toList := .quoted haround hliteral hwithin
  exact ⟨hnamed, ((decode_by_name.1 body).1 .superRoot _ rfl (by decide)).mpr hnamed⟩

example : decode "\"\\\"Super Root\\\"\"" = .commonUser := by decide +kernel

end Role

end InsectPortal
