import InsectPortal.Proofs.JsonText

/-!
# Reading numbers back

A number has no last character of its own: it goes on for as long as the text does. So each of its
spellings is read back wherever the text after it does not go on into it, which holds at the end of
a text and in front of a gap, a comma or a closing bracket.
-/
namespace InsectPortal.Json

def EndsDigits (rest : List Char) : Prop := ∀ c ∈ rest.head?, decimalDigit? c = none

/-- The text does not start with what a number could go on with. -/
structure EndsNumber (rest : List Char) : Prop where
  digits : EndsDigits rest
  point : rest.head? ≠ some '.'
  small : rest.head? ≠ some 'e'
  capital : rest.head? ≠ some 'E'

theorem decimalDigit?_decimalDigit (d : Fin 10) : decimalDigit? (decimalDigit d) = some d := by
  revert d
  decide

theorem decimalDigit_injective : Function.Injective decimalDigit := by
  intro d e h
  have hread := decimalDigit?_decimalDigit d
  rw [h, decimalDigit?_decimalDigit] at hread
  exact (Option.some.inj hread).symm

theorem digits_of_ends {rest : List Char} (h : EndsDigits rest) : digits rest = ([], rest) := by
  cases rest with
  | nil => rfl
  | cons c rest => rw [digits, h c rfl]

theorem digits_append (ds : List (Fin 10)) {rest : List Char} (h : EndsDigits rest) :
    digits (ds.map decimalDigit ++ rest) = (ds, rest) := by
  induction ds with
  | nil => exact digits_of_ends h
  | cons d ds ih => rw [List.map_cons, List.cons_append, digits, decimalDigit?_decimalDigit, ih]

def decimal (n : Nat) : List (Fin 10) :=
  if n < 10 then [Fin.ofNat 10 n] else decimal (n / 10) ++ [Fin.ofNat 10 n]

theorem decimal_ne_nil (n : Nat) : decimal n ≠ [] := by
  rw [decimal]
  split
  · exact List.cons_ne_nil _ _
  · exact List.append_ne_nil_of_right_ne_nil _ (List.cons_ne_nil _ _)

theorem head_decimal {n : Nat} (h : (decimal n).head? = some 0) : n = 0 := by
  induction n using decimal.induct with
  | case1 n hn =>
    rw [decimal, if_pos hn] at h
    have hzero := congrArg Fin.val (Option.some.inj h)
    simp only [Fin.ofNat, Fin.val_zero] at hzero
    omega
  | case2 n hn ih =>
    rw [decimal, if_neg hn, List.head?_append_of_ne_nil _ (decimal_ne_nil _)] at h
    have := ih h
    omega

theorem ofDigits_decimal (n : Nat) : ofDigits (decimal n) = n := by
  induction n using decimal.induct with
  | case1 n hn =>
    rw [decimal, if_pos hn]
    simp only [ofDigits, List.foldl_cons, List.foldl_nil, Fin.ofNat]
    omega
  | case2 n hn ih =>
    rw [decimal, if_neg hn]
    simp only [ofDigits, List.foldl_append, List.foldl_cons, List.foldl_nil, Fin.ofNat] at ih ⊢
    omega

theorem toDigits_eq_decimal (n : Nat) : Nat.toDigits 10 n = (decimal n).map decimalDigit := by
  have hdigit : ∀ m, (m % 10).digitChar = decimalDigit (Fin.ofNat 10 m) := by
    intro m
    have : ∀ d : Fin 10, d.val.digitChar = decimalDigit d := by decide
    exact this (Fin.ofNat 10 m)
  induction n using decimal.induct with
  | case1 n hn =>
    rw [decimal, if_pos hn, Nat.toDigits_eq_if (by decide), if_pos hn, List.map_singleton,
      ← hdigit, Nat.mod_eq_of_lt hn]
  | case2 n hn ih =>
    rw [decimal, if_neg hn, Nat.toDigits_eq_if (by decide), if_neg hn, ih, List.map_append,
      List.map_singleton, hdigit]

theorem toList_toString (n : Nat) : (toString n).toList = (decimal n).map decimalDigit := by
  rw [Nat.toString_eq_ofList_toDigits, String.toList_ofList, toDigits_eq_decimal]

theorem toList_toString_starts (n : Nat) :
    ∃ d cs, (toString n).toList = decimalDigit d :: cs := by
  rw [toList_toString]
  cases hd : decimal n with
  | nil => exact absurd hd (decimal_ne_nil n)
  | cons d ds => exact ⟨d, ds.map decimalDigit, rfl⟩

theorem decimalDigit_ne {c : Char} (h : decimalDigit? c = none) (d : Fin 10) :
    decimalDigit d ≠ c := by
  intro hc
  rw [← hc, decimalDigit?_decimalDigit] at h
  cases h

theorem wholePart?_toString (n : Nat) {rest : List Char} (h : EndsDigits rest) :
    wholePart? ((toString n).toList ++ rest) = some (n, rest) := by
  rw [toList_toString]
  by_cases hn : n = 0
  · subst hn
    rw [decimal]
    rfl
  · cases hd : decimal n with
    | nil => exact absurd hd (decimal_ne_nil n)
    | cons d ds =>
      have hfirst : decimalDigit d ≠ '0' := by
        intro hzero
        have : d = 0 := decimalDigit_injective hzero
        exact hn (head_decimal (by rw [hd, this]; rfl))
      have hread := digits_append (d :: ds) h
      have hvalue : ofDigits (d :: ds) = n := hd ▸ ofDigits_decimal n
      rw [List.map_cons, List.cons_append] at hread ⊢
      unfold wholePart?
      split
      · rename_i hc
        exact absurd (List.cons.inj hc).1 hfirst
      · simp only [hread, hvalue]

def spellFraction : List (Fin 10) → List Char
  | [] => []
  | ds => '.' :: ds.map decimalDigit

theorem fractionPart?_spelled (ds : List (Fin 10)) {rest : List Char} (h : EndsDigits rest)
    (hpoint : rest.head? ≠ some '.') :
    fractionPart? (spellFraction ds ++ rest) = some (ds, rest) := by
  cases ds with
  | nil =>
    unfold fractionPart?
    split
    · rename_i hc
      exact absurd (congrArg List.head? hc) hpoint
    · rfl
  | cons d ds =>
    have hread := digits_append (d :: ds) h
    rw [List.map_cons, List.cons_append] at hread
    rw [spellFraction, List.map_cons, List.cons_append, List.cons_append, fractionPart?, hread]
    · exact List.cons_ne_nil d ds

theorem exponentDigits?_digits (negative : Bool) {ds : List (Fin 10)} (hne : ds ≠ [])
    {rest : List Char} (h : EndsDigits rest) :
    exponentDigits? negative (ds.map decimalDigit ++ rest) =
      some (some (if negative then -(ofDigits ds : Int) else ofDigits ds), rest) := by
  rw [exponentDigits?, digits_append _ h]
  cases ds with
  | nil => exact absurd rfl hne
  | cons d ds => rfl

/-- What may stand for an exponent behind the digits of a number. -/
inductive SpellsExponent : List Char → Option Int → Prop where
  | absent : SpellsExponent [] none
  | bare {mark ds} : mark = 'e' ∨ mark = 'E' → ds ≠ [] →
      SpellsExponent (mark :: ds.map decimalDigit) (some (ofDigits ds))
  | plus {mark ds} : mark = 'e' ∨ mark = 'E' → ds ≠ [] →
      SpellsExponent (mark :: '+' :: ds.map decimalDigit) (some (ofDigits ds))
  | minus {mark ds} : mark = 'e' ∨ mark = 'E' → ds ≠ [] →
      SpellsExponent (mark :: '-' :: ds.map decimalDigit) (some (-ofDigits ds))

theorem exponentPart?_spelled {w : List Char} {e : Option Int} (hw : SpellsExponent w e)
    {rest : List Char} (h : EndsNumber rest) : exponentPart? (w ++ rest) = some (e, rest) := by
  cases hw with
  | absent =>
    cases rest with
    | nil => rfl
    | cons c rest =>
      have hsmall : c ≠ 'e' := fun hc => h.small (congrArg some hc)
      have hcapital : c ≠ 'E' := fun hc => h.capital (congrArg some hc)
      simp [exponentPart?, hsmall, hcapital]
  | @bare mark ds hm hne =>
    obtain ⟨d, ds, rfl⟩ := List.exists_cons_of_ne_nil hne
    have hread := exponentDigits?_digits false hne h.digits
    rw [List.map_cons, List.cons_append] at hread
    rw [List.map_cons, List.cons_append, List.cons_append, exponentPart?,
      if_pos (by simpa using hm)]
    · exact hread
    · intro _ hsign
      exact decimalDigit_ne (by decide) d (List.cons.inj hsign).1
    · intro _ hsign
      exact decimalDigit_ne (by decide) d (List.cons.inj hsign).1
  | plus hm hne =>
    rw [List.cons_append, List.cons_append, exponentPart?, if_pos (by simpa using hm)]
    exact exponentDigits?_digits false hne h.digits
  | minus hm hne =>
    rw [List.cons_append, List.cons_append, exponentPart?, if_pos (by simpa using hm)]
    exact exponentDigits?_digits true hne h.digits

def spellExponent : Option Int → List Char
  | none => []
  | some e => 'e' :: (toString e).toList

theorem spellsExponent_spellExponent (e : Option Int) : SpellsExponent (spellExponent e) e := by
  rcases e with _ | n | n
  · exact .absent
  · have hspelled : spellExponent (some (Int.ofNat n)) = 'e' :: (toString n).toList := rfl
    have hvalue : some (Int.ofNat n) = some (ofDigits (decimal n) : Int) := by
      rw [ofDigits_decimal]
      rfl
    rw [hspelled, hvalue, toList_toString]
    exact .bare (Or.inl rfl) (decimal_ne_nil n)
  · have hspelled :
        spellExponent (some (Int.negSucc n)) = 'e' :: '-' :: (toString (n + 1)).toList := by
      have : toString (Int.negSucc n) = "-" ++ toString (n + 1) := rfl
      rw [spellExponent, this, String.toList_append]
      rfl
    have hvalue : some (Int.negSucc n) = some (-ofDigits (decimal (n + 1)) : Int) := by
      rw [ofDigits_decimal]
      rfl
    rw [hspelled, hvalue, toList_toString]
    exact .minus (Or.inl rfl) (decimal_ne_nil (n + 1))

def spellUnsigned (n : Numeral) (exponent : List Char) : List Char :=
  (toString n.whole).toList ++ (spellFraction n.fraction ++ exponent)

/-- What may stand for a number: only its exponent has more than one spelling. -/
inductive SpellsNumeral : List Char → Numeral → Prop where
  | parts {n w} : SpellsExponent w n.exponent →
      SpellsNumeral ((if n.negative then ['-'] else []) ++ spellUnsigned n w) n

theorem spellsNumeral_spellNumeral (n : Numeral) : SpellsNumeral (spellNumeral n) n := by
  have hspelled : spellNumeral n = (if n.negative then ['-'] else []) ++
      spellUnsigned n (spellExponent n.exponent) := by
    obtain ⟨negative, whole, fraction, exponent⟩ := n
    cases fraction <;> cases exponent <;>
      simp [spellNumeral, spellUnsigned, spellFraction, spellExponent]
  rw [hspelled]
  exact .parts (spellsExponent_spellExponent n.exponent)

theorem endsDigits_of_spellsExponent {w : List Char} {e : Option Int} (hw : SpellsExponent w e)
    {rest : List Char} (h : EndsNumber rest) :
    EndsDigits (w ++ rest) ∧ (w ++ rest).head? ≠ some '.' := by
  have hmark : ∀ (mark : Char) (after : List Char), mark = 'e' ∨ mark = 'E' →
      EndsDigits (mark :: after) ∧ (mark :: after).head? ≠ some '.' := by
    rintro mark after (rfl | rfl) <;> constructor <;> simp [EndsDigits] <;> decide
  cases hw with
  | absent => exact ⟨h.digits, h.point⟩
  | bare hm | plus hm | minus hm => exact hmark _ _ hm

theorem numeral?_spelled {n : Numeral} {w : List Char} (hw : SpellsExponent w n.exponent)
    {rest : List Char} (h : EndsNumber rest) :
    numeral? n.negative (spellUnsigned n w ++ rest) = some (n, rest) := by
  obtain ⟨hdigits, hpoint⟩ := endsDigits_of_spellsExponent hw h
  have hfraction : EndsDigits (spellFraction n.fraction ++ (w ++ rest)) := by
    cases n.fraction with
    | nil => exact hdigits
    | cons d ds => simp [EndsDigits, spellFraction]; decide
  rw [spellUnsigned, List.append_assoc, List.append_assoc, numeral?]
  simp only [wholePart?_toString _ hfraction, fractionPart?_spelled _ hdigits hpoint,
    exponentPart?_spelled hw h, bind, Option.bind_some]

theorem isGap_decimalDigit (d : Fin 10) : isGap (decimalDigit d) = false := by
  revert d
  decide

theorem token?_digit (d : Fin 10) (rest : List Char) :
    token? (decimalDigit d) rest =
      (numeral? false (decimalDigit d :: rest)).map fun p => (.number p.1, p.2) := by
  have hne : ∀ c, decimalDigit? c = none → decimalDigit d ≠ c := fun _ hc => decimalDigit_ne hc d
  unfold token?
  split
  case h_12 => rfl
  all_goals exact absurd ‹_› (hne _ (by decide))

theorem tokens?_number {w : List Char} {n : Numeral} (hw : SpellsNumeral w n) {rest : List Char}
    (h : EndsNumber rest) : tokens? (w ++ rest) = (tokens? rest).map (.number n :: ·) := by
  cases hw with
  | @parts n exponent hexponent =>
    have hread := numeral?_spelled hexponent h
    cases hn : n.negative with
    | true =>
      rw [hn] at hread
      have hminus : token? '-' (spellUnsigned n exponent ++ rest) = some (.number n, rest) := by
        rw [token?, hread]
        rfl
      exact tokens?_cons (by decide) hminus
    | false =>
      rw [hn] at hread
      obtain ⟨d, cs, hcs⟩ := toList_toString_starts n.whole
      have hstart : spellUnsigned n exponent ++ rest =
          decimalDigit d :: (cs ++ (spellFraction n.fraction ++ exponent ++ rest)) := by
        rw [spellUnsigned, hcs, List.append_assoc, List.cons_append]
      rw [hstart] at hread
      rw [if_neg Bool.false_ne_true, List.nil_append, hstart]
      refine tokens?_cons (isGap_decimalDigit d) ?_
      rw [token?_digit, hread]
      rfl

end InsectPortal.Json
