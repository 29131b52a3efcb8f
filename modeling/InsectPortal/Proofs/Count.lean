import InsectPortal.Proofs.JsonNumeral
import InsectPortal.Text.Digits

/-!
# What counts as a count

The texts that are read as a count, apart from the reader: at least one digit, at most one plus sign
in front, and a number that fits 64 bits. Zeros in front do not matter.
-/
namespace InsectPortal.Text

open Json (decimalDigit decimalDigit_ne ofDigits)

/-- The text is a count, of this value. -/
def IsCount (s : String) (n : Nat) : Prop :=
  ∃ ds : List (Fin 10), ds ≠ [] ∧ ofDigits ds = n ∧ n < UInt64.size ∧
    (s.toList = ds.map decimalDigit ∨ s.toList = '+' :: ds.map decimalDigit)

theorem exists_decimalDigit {c : Char} (h : c.isDigit = true) : ∃ d, c = decimalDigit d := by
  simp only [Char.isDigit, Bool.and_eq_true, decide_eq_true_eq] at h
  have hcode : 48 ≤ c.toNat ∧ c.toNat ≤ 57 := h
  refine ⟨⟨c.toNat - 48, by omega⟩, ?_⟩
  have hback : 48 + (c.toNat - 48) = c.toNat := by omega
  rw [decimalDigit, hback, Char.ofNat_toNat]

def extended (n : Nat) (ds : List (Fin 10)) : Nat := ds.foldl (fun n d => n * 10 + d.val) n

theorem le_extended (n : Nat) (ds : List (Fin 10)) : n ≤ extended n ds := by
  induction ds generalizing n with
  | nil => exact Nat.le_refl n
  | cons d ds ih =>
    have hle : n ≤ n * 10 + d.val := by omega
    exact Nat.le_trans hle (ih _)

theorem countFrom_digits {n : Nat} (hn : n < UInt64.size) (ds : List (Fin 10)) :
    countFrom n (ds.map decimalDigit) =
      if extended n ds < UInt64.size then .ok (extended n ds) else .error .tooLarge := by
  induction ds generalizing n with
  | nil => exact (if_pos hn).symm
  | cons d ds ih =>
    have hdigit : (decimalDigit d).isDigit = true ∧ (decimalDigit d).toNat - '0'.toNat = d.val := by
      revert d
      decide
    rw [List.map_cons, countFrom, if_pos hdigit.1, hdigit.2]
    by_cases hnext : n * 10 + d.val < UInt64.size
    · exact (if_pos hnext).trans (ih hnext)
    · have hlarge : ¬ extended n (d :: ds) < UInt64.size := fun hlt =>
        hnext (Nat.lt_of_le_of_lt (le_extended (n * 10 + d.val) ds) hlt)
      exact (if_neg hnext).trans (if_neg hlarge).symm

theorem digits_of_countFrom {cs : List Char} {n k : Nat} (h : countFrom n cs = .ok k) :
    ∃ ds : List (Fin 10), cs = ds.map decimalDigit := by
  induction cs generalizing n with
  | nil => exact ⟨[], rfl⟩
  | cons c cs ih =>
    rw [countFrom] at h
    split at h
    next hc =>
      simp only at h
      split at h
      next =>
        obtain ⟨d, rfl⟩ := exists_decimalDigit hc
        obtain ⟨ds, rfl⟩ := ih h
        exact ⟨d :: ds, rfl⟩
      next => cases h
    next => cases h

theorem countFrom_eq_ok_iff {cs : List Char} {n : Nat} :
    countFrom 0 cs = .ok n ↔
      ∃ ds : List (Fin 10), cs = ds.map decimalDigit ∧ ofDigits ds = n ∧ n < UInt64.size := by
  constructor
  · intro h
    obtain ⟨ds, rfl⟩ := digits_of_countFrom h
    rw [countFrom_digits (by decide)] at h
    split at h
    next hlt =>
      obtain rfl := Except.ok.inj h
      exact ⟨ds, rfl, rfl, hlt⟩
    next => cases h
  · rintro ⟨ds, rfl, rfl, hlt⟩
    rw [countFrom_digits (by decide)]
    exact if_pos hlt

/-- A text is read as a count exactly if it is one. -/
theorem count_eq_ok_iff {s : String} {n : Nat} : count s = .ok n ↔ IsCount s n := by
  constructor
  · intro h
    unfold count at h
    split at h
    next => cases h
    next => cases h
    next rest hne hs =>
      obtain ⟨ds, rfl, hvalue, hlt⟩ := countFrom_eq_ok_iff.mp h
      refine ⟨ds, ?_, hvalue, hlt, Or.inr hs⟩
      rintro rfl
      exact hne rfl
    next hne _ _ =>
      obtain ⟨ds, hs, hvalue, hlt⟩ := countFrom_eq_ok_iff.mp h
      refine ⟨ds, ?_, hvalue, hlt, Or.inl hs⟩
      rintro rfl
      exact hne hs
  · rintro ⟨ds, hne, hvalue, hlt, hs⟩
    have hread : countFrom 0 (ds.map decimalDigit) = .ok n :=
      countFrom_eq_ok_iff.mpr ⟨ds, rfl, hvalue, hlt⟩
    obtain ⟨d, ds, rfl⟩ := List.exists_cons_of_ne_nil hne
    rw [List.map_cons] at hs hread
    rcases hs with hs | hs
    · simp only [count, hs]
      split
      next h => cases h
      next h => exact absurd (List.cons.inj h).1 (decimalDigit_ne (by decide) d)
      next h => exact absurd (List.cons.inj h).1 (decimalDigit_ne (by decide) d)
      next => exact hread
    · simp only [count, hs]
      exact hread

end InsectPortal.Text
